import Spanreed.Lib.Pipeline

/-! # Automata that communicate over FIFO channels

Each event of an automaton is classified as internal, as a send or as a receive on a named
channel. `network` runs the automaton with one queue per channel: a send waits for room and
appends, a receive takes the oldest message. The history determines every queue
(`network_fifo`): what was sent on a channel is what was received from it followed by what is
still queued.

Nothing here refers to a particular program. -/

namespace Automata

universe u v w
variable {χ : Type w} [DecidableEq χ] {M : χ → Type w}

/-- What an event does to the channels. -/
inductive ChannelOp (χ : Type w) (M : χ → Type w)
  | internal
  | send (c : χ) (m : M c)
  | recv (c : χ) (m : M c)

namespace ChannelOp

/-- The message an event sends on channel `c`. -/
def sentOn (c : χ) : ChannelOp χ M → Option (M c)
  | .send c' m => if h : c' = c then some (h ▸ m) else none
  | _ => none

/-- The message an event receives from channel `c`. -/
def recvOn (c : χ) : ChannelOp χ M → Option (M c)
  | .recv c' m => if h : c' = c then some (h ▸ m) else none
  | _ => none

@[simp] theorem sentOn_internal (c : χ) : sentOn c (.internal : ChannelOp χ M) = none := rfl
@[simp] theorem recvOn_internal (c : χ) : recvOn c (.internal : ChannelOp χ M) = none := rfl
@[simp] theorem sentOn_recv (c c' : χ) (m : M c') : sentOn c (.recv c' m) = none := rfl
@[simp] theorem recvOn_send (c c' : χ) (m : M c') : recvOn c (.send c' m) = none := rfl

theorem sentOn_self (c : χ) (m : M c) : sentOn c (.send c m) = some m := by simp [sentOn]
theorem recvOn_self (c : χ) (m : M c) : recvOn c (.recv c m) = some m := by simp [recvOn]

theorem sentOn_of_ne {c c' : χ} (h : c' ≠ c) (m : M c') : sentOn c (.send c' m) = none := by
  simp [sentOn, h]

theorem recvOn_of_ne {c c' : χ} (h : c' ≠ c) (m : M c') : recvOn c (.recv c' m) = none := by
  simp [recvOn, h]

theorem sentOn_eq_some {c : χ} {m : M c} {op : ChannelOp χ M} (h : op.sentOn c = some m) :
    op = .send c m := by
  cases op with
  | send c' m' =>
    by_cases hc : c' = c
    · subst hc
      rw [sentOn_self] at h
      rw [Option.some.inj h]
    · rw [sentOn_of_ne hc] at h
      cases h
  | internal => cases h
  | recv c' m' => cases h

theorem recvOn_eq_some {c : χ} {m : M c} {op : ChannelOp χ M} (h : op.recvOn c = some m) :
    op = .recv c m := by
  cases op with
  | recv c' m' =>
    by_cases hc : c' = c
    · subst hc
      rw [recvOn_self] at h
      rw [Option.some.inj h]
    · rw [recvOn_of_ne hc] at h
      cases h
  | internal => cases h
  | send c' m' => cases h

end ChannelOp

/-- Room for one more message in a channel that holds `n`; `none` is a channel without bound. -/
def HasRoom : Option Nat → Nat → Prop
  | none, _ => True
  | some cap, n => n < cap

instance : ∀ cap n, Decidable (HasRoom cap n)
  | none, _ => inferInstanceAs (Decidable True)
  | some cap, n => inferInstanceAs (Decidable (n < cap))

/-- One FIFO queue per channel, oldest message first. -/
abbrev Queues (M : χ → Type w) := (c : χ) → List (M c)

namespace Queues

/-- The queues after an operation; a receive takes what is oldest. -/
def apply (q : Queues M) : ChannelOp χ M → Queues M
  | .internal => q
  | .send c m => Function.update q c (q c ++ [m])
  | .recv c _ => Function.update q c (q c).tail

/-- An operation can happen: a send finds room, a receive finds its message oldest. -/
def Allows (cap : χ → Option Nat) (q : Queues M) : ChannelOp χ M → Prop
  | .internal => True
  | .send c _ => HasRoom (cap c) (q c).length
  | .recv c m => (q c).head? = some m

instance [∀ c, DecidableEq (M c)] (cap : χ → Option Nat) (q : Queues M) :
    ∀ op, Decidable (Allows cap q op)
  | .internal => inferInstanceAs (Decidable True)
  | .send c _ => inferInstanceAs (Decidable (HasRoom (cap c) (q c).length))
  | .recv c m => inferInstanceAs (Decidable ((q c).head? = some m))

/-- A queue plus what an operation sends on it is what it receives plus the queue afterwards. -/
theorem apply_balance {cap : χ → Option Nat} {q : Queues M} {op : ChannelOp χ M}
    (h : q.Allows cap op) (c : χ) :
    q c ++ (op.sentOn c).toList = (op.recvOn c).toList ++ q.apply op c := by
  cases op with
  | internal => simp [apply]
  | send c' m =>
    by_cases hc : c' = c
    · subst hc; simp [apply, ChannelOp.sentOn_self]
    · simp [apply, ChannelOp.sentOn_of_ne hc, Function.update_of_ne (Ne.symm hc)]
  | recv c' m =>
    by_cases hc : c' = c
    · subst hc
      cases hq : q c' with
      | nil => simp [Allows, hq] at h
      | cons m' rest =>
        simp only [Allows, hq, List.head?_cons, Option.some.injEq] at h
        simp [apply, ChannelOp.recvOn_self, hq, h]
    · simp [apply, ChannelOp.recvOn_of_ne hc, Function.update_of_ne (Ne.symm hc)]

/-- What is in a queue was there before, or an operation has just sent it. -/
theorem mem_apply {q : Queues M} {op : ChannelOp χ M} {c : χ} {m : M c} (h : m ∈ q.apply op c) :
    m ∈ q c ∨ op = .send c m := by
  cases op with
  | internal => exact .inl h
  | send c' m' =>
    by_cases hc : c' = c
    · subst hc
      simp only [apply, Function.update_self] at h
      rcases List.mem_append.mp h with h | h
      · exact .inl h
      · rw [List.mem_singleton.mp h]
        exact .inr rfl
    · rw [apply, Function.update_of_ne (Ne.symm hc)] at h
      exact .inl h
  | recv c' m' =>
    by_cases hc : c' = c
    · subst hc
      rw [apply, Function.update_self] at h
      exact .inl (List.mem_of_mem_tail h)
    · rw [apply, Function.update_of_ne (Ne.symm hc)] at h
      exact .inl h

/-- No channel holds more than it can. -/
def Bounded (cap : χ → Option Nat) (q : Queues M) : Prop :=
  ∀ c n, cap c = some n → (q c).length ≤ n

theorem Bounded.apply {cap : χ → Option Nat} {q : Queues M} {op : ChannelOp χ M}
    (hb : q.Bounded cap) (ha : q.Allows cap op) : (q.apply op).Bounded cap := by
  intro c n hn
  cases op with
  | internal => exact hb c n hn
  | send c' m =>
    by_cases hc : c = c'
    · subst hc
      simp only [Allows, hn, HasRoom] at ha
      simpa [Queues.apply] using Nat.succ_le_of_lt ha
    · simpa [Queues.apply, Function.update_of_ne hc] using hb c n hn
  | recv c' m =>
    by_cases hc : c = c'
    · subst hc
      simpa [Queues.apply] using Nat.le_add_right_of_le (hb c n hn)
    · simpa [Queues.apply, Function.update_of_ne hc] using hb c n hn

omit [DecidableEq χ] in
/-- A channel without room holds a message, and has room without it. -/
theorem Bounded.room_of_full {cap : χ → Option Nat} {q : Queues M} {c : χ} (hb : q.Bounded cap)
    (hpos : ∀ n, cap c = some n → 0 < n) (hfull : ¬HasRoom (cap c) (q c).length) :
    ∃ m rest, q c = m :: rest ∧ HasRoom (cap c) rest.length := by
  cases hcap : cap c with
  | none => simp [hcap, HasRoom] at hfull
  | some n =>
    simp only [hcap, HasRoom, not_lt] at hfull
    have hle := hb c n hcap
    have hlt := hpos n hcap
    cases hq : q c with
    | nil => simp only [hq, List.length_nil] at hfull; omega
    | cons m rest =>
      refine ⟨m, rest, rfl, ?_⟩
      simp only [hq, List.length_cons] at hle
      exact hle

/-- A channel without room gets none unless somebody receives from it. -/
theorem full_apply {cap : χ → Option Nat} {q : Queues M} {op : ChannelOp χ M} {c : χ}
    (hfull : ¬HasRoom (cap c) (q c).length) (hop : ∀ m, op ≠ .recv c m) :
    ¬HasRoom (cap c) (q.apply op c).length := by
  cases op with
  | internal => exact hfull
  | send c' m =>
    by_cases hc : c = c'
    · subst hc
      cases hcap : cap c with
      | none => simp [hcap, HasRoom] at hfull
      | some n =>
        simp only [hcap, HasRoom, apply, Function.update_self, List.length_append,
          List.length_singleton] at hfull ⊢
        omega
    · rwa [apply, Function.update_of_ne hc]
  | recv c' m =>
    by_cases hc : c = c'
    · subst hc
      exact (hop m rfl).elim
    · rwa [apply, Function.update_of_ne hc]

end Queues

variable {σ : Type u} {ε : Type v}

/-- The automaton `A` with its channel operations carried out on FIFO queues. -/
def network (A : Automaton σ ε) (op : ε → ChannelOp χ M) (cap : χ → Option Nat) :
    Automaton (σ × Queues M) ε where
  enabled s e := A.enabled s.1 e ∧ s.2.Allows cap (op e)
  next s e := (A.next s.1 e, s.2.apply (op e))

instance [∀ c, DecidableEq (M c)] (A : Automaton σ ε) [∀ s e, Decidable (A.enabled s e)]
    (op : ε → ChannelOp χ M) (cap : χ → Option Nat) :
    ∀ s e, Decidable ((network A op cap).enabled s e) :=
  fun s e => inferInstanceAs (Decidable (A.enabled s.1 e ∧ s.2.Allows cap (op e)))

/-- The messages sent on a channel in a history, oldest first. -/
def sent (op : ε → ChannelOp χ M) (c : χ) (tr : List ε) : List (M c) :=
  tr.filterMap fun e => (op e).sentOn c

/-- The messages received from a channel in a history, oldest first. -/
def received (op : ε → ChannelOp χ M) (c : χ) (tr : List ε) : List (M c) :=
  tr.filterMap fun e => (op e).recvOn c

section
variable {A : Automaton σ ε} {op : ε → ChannelOp χ M} {cap : χ → Option Nat}
  {s₀ : σ} {tr tr₁ tr₂ : List ε} {s : σ × Queues M}

theorem network_run (h : (network A op cap).Run (s₀, fun _ => []) tr s) :
    A.Run s₀ tr s.1 := by
  induction h with
  | nil => exact .nil
  | snoc _ he ih => exact ih.snoc he.1

/-- FIFO: what was sent is what was received followed by what is queued. -/
theorem network_fifo (h : (network A op cap).Run (s₀, fun _ => []) tr s) (c : χ) :
    sent op c tr = received op c tr ++ s.2 c := by
  induction h with
  | nil => rfl
  | @snoc tr s e _ he ih =>
    have hb := Queues.apply_balance he.2 c
    simp only [sent, received, List.filterMap_append] at ih ⊢
    rw [ih, List.append_assoc, List.append_assoc]
    exact congrArg _ hb

/-- A channel is an exact stage, also for the part `f` of its messages. -/
theorem network_exact {β : Type w} (h : (network A op cap).Run (s₀, fun _ => []) tr s) (c : χ)
    {f : M c → Option β} {i o : ε → Option β}
    (hi : ∀ e ∈ tr, ((op e).sentOn c).bind f = i e)
    (ho : ∀ e ∈ tr, ((op e).recvOn c).bind f = o e) :
    Exact (tr.filterMap i) (tr.filterMap o) ((s.2 c).filterMap f) := by
  have hq : Exact _ _ _ := Exact.filterMap (network_fifo h c) f
  simp only [sent, received, List.filterMap_filterMap] at hq
  rwa [List.filterMap_congr hi, List.filterMap_congr ho] at hq

/-- What comes out of a channel is a subsequence of what is put into it, also for the part `f` of
its messages and for outputs `o` that are only some of them. -/
theorem network_sublist {β : Type w} (h : (network A op cap).Run (s₀, fun _ => []) tr s) (c : χ)
    {f : M c → Option β} {i o : ε → Option β}
    (hi : ∀ e ∈ tr, ∀ b, ((op e).sentOn c).bind f = some b → i e = some b)
    (ho : ∀ e ∈ tr, ∀ b, o e = some b → ((op e).recvOn c).bind f = some b) :
    (tr.filterMap o).Sublist (tr.filterMap i) := by
  have hq : Exact _ _ _ := Exact.filterMap (network_fifo h c) f
  simp only [sent, received, List.filterMap_filterMap] at hq
  exact ((filterMap_sublist_filterMap ho).trans hq.lossy.sublist).trans
    (filterMap_sublist_filterMap hi)

/-- What is in a queue was sent. -/
theorem send_of_mem_queue (h : (network A op cap).Run (s₀, fun _ => []) tr s) {c : χ} {m : M c}
    (hm : m ∈ s.2 c) : ∃ e ∈ tr, op e = .send c m := by
  have hsent : m ∈ sent op c tr := by
    rw [network_fifo h c]
    exact List.mem_append_right _ hm
  obtain ⟨e, he, hop⟩ := List.mem_filterMap.mp hsent
  exact ⟨e, he, ChannelOp.sentOn_eq_some hop⟩

/-- A receive comes after the send of its message. -/
theorem send_before_recv (h : (network A op cap).Run (s₀, fun _ => []) tr s) {e : ε} {c : χ}
    {m : M c} (he : (network A op cap).enabled s e) (hop : op e = .recv c m) :
    ∃ e' ∈ tr, op e' = .send c m := by
  have hallow := he.2
  rw [hop] at hallow
  exact send_of_mem_queue h (List.mem_of_mem_head? hallow)

end
end Automata
