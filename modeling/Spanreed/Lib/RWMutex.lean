import Spanreed.Lib.Automaton
import Mathlib.Logic.Function.Basic
import Mathlib.Order.WellFounded
import Mathlib.Data.Fintype.Basic

/-! # Threads that take reader/writer mutexes

A program says at each of its points which mutexes a thread there holds and for which one it waits;
`system` runs any number of threads of it. A mutex is not separate state: who holds it is determined
by where the threads are. Writers go first, as with Go's `sync.RWMutex`: a writer announces itself,
one at a time for each mutex, and from then on no further reader is let in.

Threads are deadlocked if each of them waits for a mutex that another one of them holds. They are
not if all mutexes are taken in one order (`not_deadlocked_of_order`).

Nothing here refers to a particular program. -/

namespace RWMutexes
open Automata

universe u v w
variable {ι : Type u} {P : Type v} {L : Type w}

inductive Mode
  | read
  | write
deriving DecidableEq

/-- A program with points `P` and mutexes `L`. Locking adds what was waited for to what is held;
other steps only release. -/
structure Program (P : Type v) (L : Type w) where
  holds : P → L → Option Mode
  wants : P → Option (L × Mode)
  /-- Where a thread gets to when it gets the mutex it waits for. -/
  granted : P → P
  /-- The steps of a thread that waits for no mutex. -/
  moves : P → P → Prop
  holds_granted : ∀ {p l m}, wants p = some (l, m) →
    holds (granted p) l = some m ∧ ∀ l', l' ≠ l → holds (granted p) l' = holds p l'
  holds_moves : ∀ {p p' l m}, moves p p' → holds p' l = some m → holds p l = some m

structure State (ι : Type u) (P : Type v) where
  pc : ι → P
  /-- The threads that wait as announced writers. -/
  announced : ι → Bool

inductive Event (ι : Type u) (P : Type v)
  | announce (i : ι)
  | acquire (i : ι)
  | move (i : ι) (p : P)

namespace State
variable (prog : Program P L) (s : State ι P)

/-- Thread `i` is an announced writer of `l`. -/
def Announced (i : ι) (l : L) : Prop :=
  s.announced i = true ∧ prog.wants (s.pc i) = some (l, .write)

/-- Nobody but `i` writes or is about to. -/
def NoWriter (i : ι) (l : L) : Prop :=
  ∀ j, j ≠ i → prog.holds (s.pc j) l ≠ some .write ∧ ¬s.Announced prog j l

/-- Thread `i` can get `l`. -/
def Free (i : ι) (l : L) : Mode → Prop
  | .read => s.NoWriter prog i l
  | .write => s.NoWriter prog i l ∧ ∀ j, j ≠ i → prog.holds (s.pc j) l = none

/-- Thread `i` waits for a mutex it cannot get and that `j` holds. -/
def Waits (i j : ι) : Prop :=
  j ≠ i ∧ ∃ l m, prog.wants (s.pc i) = some (l, m) ∧ ¬s.Free prog i l m ∧
    prog.holds (s.pc j) l ≠ none

/-- Each of the threads waits for a mutex that another one of them holds. -/
def Deadlocked (threads : Set ι) : Prop :=
  threads.Nonempty ∧ ∀ i ∈ threads, ∃ j ∈ threads, s.Waits prog i j

def enabled : Event ι P → Prop
  | .announce i => s.announced i = false ∧
      ∃ l, prog.wants (s.pc i) = some (l, .write) ∧ s.NoWriter prog i l
  | .acquire i => ∃ l m, prog.wants (s.pc i) = some (l, m) ∧
      (m = .write → s.announced i = true) ∧ s.Free prog i l m
  | .move i p => prog.wants (s.pc i) = none ∧ prog.moves (s.pc i) p

variable [DecidableEq ι]

def next : Event ι P → State ι P
  | .announce i => { s with announced := Function.update s.announced i true }
  | .acquire i => {
      pc := Function.update s.pc i (prog.granted (s.pc i))
      announced := Function.update s.announced i false }
  | .move i p => { s with pc := Function.update s.pc i p }

@[simp] theorem pc_announce (i : ι) : (s.next prog (.announce i)).pc = s.pc := rfl
@[simp] theorem pc_acquire (i : ι) :
    (s.next prog (.acquire i)).pc = Function.update s.pc i (prog.granted (s.pc i)) := rfl
@[simp] theorem pc_move (i : ι) (p : P) :
    (s.next prog (.move i p)).pc = Function.update s.pc i p := rfl

end State

/-- Threads `ι` of a program. -/
def system (ι : Type u) [DecidableEq ι] (prog : Program P L) :
    Automaton (State ι P) (Event ι P) where
  enabled := State.enabled prog
  next s := s.next prog

section
variable [Fintype ι] [DecidableEq ι] [DecidableEq L] (prog : Program P L)
  (s : State ι P)

instance (i : ι) (l : L) : Decidable (s.NoWriter prog i l) :=
  inferInstanceAs (Decidable (∀ j, j ≠ i → _ ∧ ¬(_ ∧ _)))

instance (i : ι) (l : L) : ∀ m, Decidable (s.Free prog i l m)
  | .read => inferInstanceAs (Decidable (s.NoWriter prog i l))
  | .write => inferInstanceAs (Decidable (s.NoWriter prog i l ∧ ∀ j, j ≠ i → _))

instance decidableEnabled [∀ p p', Decidable (prog.moves p p')] :
    ∀ e, Decidable ((system ι prog).enabled s e)
  | .announce i =>
    match h : prog.wants (s.pc i) with
    | some (l, .write) => decidable_of_iff (s.announced i = false ∧ s.NoWriter prog i l)
        (by simp [system, State.enabled, h])
    | some (l, .read) | none => isFalse (by simp [system, State.enabled, h])
  | .acquire i =>
    match h : prog.wants (s.pc i) with
    | some (l, m) =>
      decidable_of_iff ((m = .write → s.announced i = true) ∧ s.Free prog i l m)
        (by simp [system, State.enabled, h])
    | none => isFalse (by simp [system, State.enabled, h])
  | .move _ _ => inferInstanceAs (Decidable (_ ∧ _))

end

variable {prog : Program P L} {s : State ι P} {i j : ι} {l : L} {threads : Set ι}

/-! ## Mutual exclusion -/

section
variable [DecidableEq ι]

/-- Who holds a mutex for writing holds it alone. -/
def Exclusive (prog : Program P L) (s : State ι P) : Prop :=
  ∀ i j l, prog.holds (s.pc i) l = some .write → j ≠ i → prog.holds (s.pc j) l = none

theorem Exclusive.next {e : Event ι P} (h : Exclusive prog s) (he : s.enabled prog e) :
    Exclusive prog (s.next prog e) := by
  cases e with
  | announce i => exact h
  | move i p =>
    -- what is held afterwards was held before
    have hold : ∀ k l m, prog.holds ((s.next prog (.move i p)).pc k) l = some m →
        prog.holds (s.pc k) l = some m := by
      intro k l m hk
      by_cases hki : k = i
      · subst hki
        rw [State.pc_move, Function.update_self] at hk
        exact prog.holds_moves he.2 hk
      · rwa [State.pc_move, Function.update_of_ne hki] at hk
    intro j k l hj hkj
    have hnone := h j k l (hold j l _ hj) hkj
    cases hk : prog.holds ((s.next prog (.move i p)).pc k) l with
    | none => rfl
    | some m => exact absurd (hold k l m hk) (by simp [hnone])
  | acquire i =>
    obtain ⟨l, m, hwants, -, hfree⟩ := he
    obtain ⟨hself, hother⟩ := prog.holds_granted hwants
    have hwriter : ∀ j, j ≠ i → prog.holds (s.pc j) l ≠ some .write := by
      intro j hj
      cases m with
      | read => exact (hfree j hj).1
      | write => exact (hfree.1 j hj).1
    intro j k l' hj hkj
    by_cases hl : l' = l
    · subst hl
      by_cases hji : j = i
      · -- the thread that locks is the writer
        subst hji
        rw [State.pc_acquire, Function.update_self, hself, Option.some.injEq] at hj
        subst hj
        rw [State.pc_acquire, Function.update_of_ne hkj]
        exact hfree.2 k hkj
      · rw [State.pc_acquire, Function.update_of_ne hji] at hj
        exact (hwriter j hji hj).elim
    · have hsame : ∀ k, prog.holds ((s.next prog (.acquire i)).pc k) l' =
          prog.holds (s.pc k) l' := by
        intro k
        by_cases hki : k = i
        · subst hki
          rw [State.pc_acquire, Function.update_self]
          exact hother l' hl
        · rw [State.pc_acquire, Function.update_of_ne hki]
      rw [hsame] at hj ⊢
      exact h j k l' hj hkj

theorem exclusive {s₀ : State ι P} {tr : List (Event ι P)} (hr : (system ι prog).Run s₀ tr s)
    (h₀ : ∀ i l, prog.holds (s₀.pc i) l = none) : Exclusive prog s := by
  refine hr.invariant (I := Exclusive prog) ?_ fun _ _ h he => h.next he
  intro i j l _ _
  exact h₀ j l

end

/-! ## One thread -/

/-- No thread is announced. -/
def quiet (pc : ι → P) : State ι P where
  pc := pc
  announced _ := false

section
variable [DecidableEq ι]

/-- Thread `i` gets from `p` to `q` while the others stay where they are. -/
def Passage (prog : Program P L) (pc : ι → P) (i : ι) (p q : P) : Prop :=
  ∃ tr, (system ι prog).Run (quiet (Function.update pc i p)) tr (quiet (Function.update pc i q))

variable {pc : ι → P} {p q r : P}

theorem Passage.refl : Passage prog pc i p p := ⟨[], .nil⟩

theorem Passage.trans (h₁ : Passage prog pc i p q) (h₂ : Passage prog pc i q r) :
    Passage prog pc i p r := by
  obtain ⟨tr₁, hr₁⟩ := h₁
  obtain ⟨tr₂, hr₂⟩ := h₂
  exact ⟨tr₁ ++ tr₂, hr₁.trans hr₂⟩

theorem Passage.run (h : Passage prog pc i (pc i) q) :
    ∃ tr, (system ι prog).Run (quiet pc) tr (quiet (Function.update pc i q)) := by
  rwa [Passage, Function.update_eq_self] at h

theorem Passage.move (hwants : prog.wants p = none) (hmoves : prog.moves p q) :
    Passage prog pc i p q := by
  refine ⟨[.move i q], ?_⟩
  have he : (quiet (Function.update pc i p)).enabled prog (.move i q) := by
    simpa [State.enabled, quiet] using And.intro hwants hmoves
  have hnext : (quiet (Function.update pc i p)).next prog (.move i q) =
      quiet (Function.update pc i q) := by simp [State.next, quiet]
  exact hnext ▸ .single he

theorem Passage.read (hwants : prog.wants p = some (l, .read))
    (hothers : ∀ j, j ≠ i → prog.holds (pc j) l ≠ some .write) :
    Passage prog pc i p (prog.granted p) := by
  refine ⟨[.acquire i], ?_⟩
  have he : (quiet (Function.update pc i p)).enabled prog (.acquire i) := by
    refine ⟨l, .read, by simpa [quiet] using hwants, by simp, fun j hj => ⟨?_, ?_⟩⟩
    · simpa [quiet, hj] using hothers j hj
    · simp [State.Announced, quiet]
  have hnext : (quiet (Function.update pc i p)).next prog (.acquire i) =
      quiet (Function.update pc i (prog.granted p)) := by simp [State.next, quiet]
  exact hnext ▸ .single he

theorem Passage.write (hwants : prog.wants p = some (l, .write))
    (hothers : ∀ j, j ≠ i → prog.holds (pc j) l = none) :
    Passage prog pc i p (prog.granted p) := by
  refine ⟨[.announce i, .acquire i], ?_⟩
  have he : (quiet (Function.update pc i p)).enabled prog (.announce i) := by
    refine ⟨rfl, l, by simpa [quiet] using hwants, fun j hj => ⟨?_, ?_⟩⟩
    · simp [quiet, hj, hothers j hj]
    · simp [State.Announced, quiet]
  have he' : ((quiet (Function.update pc i p)).next prog (.announce i)).enabled prog
      (.acquire i) := by
    refine ⟨l, .write, by simpa [quiet] using hwants, by simp [State.next],
      fun j hj => ⟨?_, ?_⟩, fun j hj => ?_⟩
    · simp [quiet, hj, hothers j hj]
    · simp [State.Announced, State.next, quiet, hj]
    · simp [quiet, hj, hothers j hj]
  have hnext : ((quiet (Function.update pc i p)).next prog (.announce i)).next prog (.acquire i) =
      quiet (Function.update pc i (prog.granted p)) := by simp [State.next, quiet]
  exact hnext ▸ .cons he (.single he')

end

/-! ## Deadlock -/

/-- If there is an order in which all threads take their mutexes, they are not deadlocked. -/
theorem not_deadlocked_of_order {α : Type w} [Preorder α] [WellFoundedGT α] (rank : L → α)
    (horder : ∀ i l l' m, prog.holds (s.pc i) l ≠ none → prog.wants (s.pc i) = some (l', m) →
      rank l < rank l') : ¬s.Deadlocked prog threads := by
  rintro ⟨⟨i, hi⟩, hwaits⟩
  obtain ⟨-, -, -, l, m, hwants, -⟩ := hwaits i hi
  -- the mutexes waited for along the chain from `i` get ever greater
  induction hrank : rank l using WellFoundedGT.induction generalizing i l m with
  | ind a ih =>
    subst hrank
    obtain ⟨j, hj, -, l₁, m₁, hwants₁, -, hholds⟩ := hwaits i hi
    obtain ⟨rfl, rfl⟩ : l = l₁ ∧ m = m₁ := by
      simpa using hwants.symm.trans hwants₁
    obtain ⟨-, -, -, l', m', hwants', -⟩ := hwaits j hj
    exact ih _ (horder j l l' m' hholds hwants') j hj l' m' hwants' rfl

/-- Two threads that wait for each other. -/
theorem deadlocked_pair (hij : s.Waits prog i j) (hji : s.Waits prog j i) :
    s.Deadlocked prog {i, j} := by
  refine ⟨⟨i, .inl rfl⟩, ?_⟩
  rintro k (rfl | rfl)
  · exact ⟨j, .inr rfl, hij⟩
  · exact ⟨i, .inl rfl, hji⟩

/-- A writer waits for everybody who holds the mutex. -/
theorem waits_of_write (hji : j ≠ i) (hwants : prog.wants (s.pc i) = some (l, .write))
    (hholds : prog.holds (s.pc j) l ≠ none) : s.Waits prog i j :=
  ⟨hji, l, .write, hwants, fun hfree => hholds (hfree.2 j hji), hholds⟩

/-- A reader waits for the thread that holds the mutex for writing. -/
theorem waits_of_read (hji : j ≠ i) (hwants : prog.wants (s.pc i) = some (l, .read))
    (hholds : prog.holds (s.pc j) l = some .write) : s.Waits prog i j :=
  ⟨hji, l, .read, hwants, fun hfree => (hfree j hji).1 hholds, by simp [hholds]⟩

end RWMutexes
