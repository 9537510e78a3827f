import Spanreed.Lib.Automaton
import Mathlib.Order.WellFounded

/-! # Progress of automata

`A.Reaches Q s s'` says that events which all satisfy `Q` can lead from `s` to `s'`: `Q` says whose
help a continuation may use. A goal is reached from every state of an invariant if, wherever it is
not reached yet, some events get closer to it (`reaches_of_measure`). `A.Meets own kind d s` says
that from `s` on `A` can take what comes within the demand `d`.

`A.Ends arrives s` says that every infinite run from `s` has infinitely many arrivals: what is left
to do when they stop is done after finitely many events. A measure that every other event decreases
shows it (`ends_of_measure`); an event that can be repeated for ever refutes it
(`not_ends_of_loop`).

Nothing here refers to a particular program. -/

namespace Automata

universe u v w
variable {σ : Type u} {ε : Type v} {α : Type w} {σ' : Type u} {ε' : Type v}

namespace Automaton
variable (A : Automaton σ ε)

/-- Events that satisfy `Q` lead from `s` to `s'`. -/
def Reaches (Q : ε → Prop) (s s' : σ) : Prop := ∃ tr, A.Run s tr s' ∧ ∀ e ∈ tr, Q e

variable {A} {Q Q' : ε → Prop} {s s₁ s₂ s₃ : σ} {e : ε}

theorem Reaches.refl : A.Reaches Q s s := ⟨[], .nil, by simp⟩

theorem Reaches.single (he : A.enabled s e) (hQ : Q e) : A.Reaches Q s (A.next s e) :=
  ⟨[e], .single he, by simpa using hQ⟩

theorem Reaches.trans (h₁ : A.Reaches Q s₁ s₂) (h₂ : A.Reaches Q s₂ s₃) : A.Reaches Q s₁ s₃ := by
  obtain ⟨tr₁, hr₁, hQ₁⟩ := h₁
  obtain ⟨tr₂, hr₂, hQ₂⟩ := h₂
  refine ⟨tr₁ ++ tr₂, hr₁.trans hr₂, ?_⟩
  intro e he
  rcases List.mem_append.mp he with he | he
  · exact hQ₁ e he
  · exact hQ₂ e he

theorem Reaches.step (he : A.enabled s e) (hQ : Q e) (h : A.Reaches Q (A.next s e) s₂) :
    A.Reaches Q s s₂ :=
  (Reaches.single he hQ).trans h

theorem Reaches.mono (h : A.Reaches Q s₁ s₂) (hQ : ∀ e, Q e → Q' e) : A.Reaches Q' s₁ s₂ := by
  obtain ⟨tr, hr, htr⟩ := h
  exact ⟨tr, hr, fun e he => hQ e (htr e he)⟩

/-- What `B` reaches `A` reaches too, if `A` can do every event of `B`. -/
theorem Reaches.map {B : Automaton σ' ε'} {P : ε' → Prop} {f : σ' → σ} {g : ε' → ε} {t t' : σ'}
    (hstep : ∀ t e, P e → B.enabled t e →
      A.enabled (f t) (g e) ∧ Q (g e) ∧ A.next (f t) (g e) = f (B.next t e))
    (h : B.Reaches P t t') : A.Reaches Q (f t) (f t') := by
  obtain ⟨tr, hr, htr⟩ := h
  induction hr with
  | nil => exact .refl
  | @snoc tr t' e _ he ih =>
    obtain ⟨hen, hQ, hnext⟩ := hstep t' e (htr e (by simp)) he
    rw [← hnext]
    exact (ih fun e he => htr e (List.mem_append_left _ he)).trans (.single hen hQ)

/-- A goal is reached if, as long as it is not, the measure can be made smaller. -/
theorem reaches_of_measure [LT α] [WellFoundedLT α] {I G : σ → Prop} {f : σ → α}
    (hstep : ∀ s, I s → ¬G s →
      ∃ s', A.Reaches Q s s' ∧ (G s' ∨ I s' ∧ f s' < f s))
    {s : σ} (hs : I s) : ∃ s', A.Reaches Q s s' ∧ G s' := by
  induction hf : f s using WellFoundedLT.induction generalizing s with
  | ind m ih =>
    by_cases hgoal : G s
    · exact ⟨s, .refl, hgoal⟩
    obtain ⟨s', hreach, hgoal' | ⟨hinv, hlt⟩⟩ := hstep s hs hgoal
    · exact ⟨s', hreach, hgoal'⟩
    · obtain ⟨s'', hreach', hgoal'⟩ := ih (f s') (hf ▸ hlt) hinv rfl
      exact ⟨s'', hreach.trans hreach', hgoal'⟩

section
variable {κ : Type w} [DecidableEq κ] {kind : ε → Option κ} {own : ε → Prop} {d d' : κ → Nat}

variable (A) in
/-- `A` can get ready by `own` events for whatever comes next, as long as of each kind of events no
more come than the demand `d` says. -/
def Meets (own : ε → Prop) (kind : ε → Option κ) (d : κ → Nat) (s : σ) : Prop :=
  ∃ I : (κ → Nat) → σ → Prop, I d s ∧ ∀ d s, I d s → ∃ s', A.Reaches own s s' ∧
    ∀ e k, kind e = some k → 0 < d k →
      A.enabled s' e ∧ I (Function.update d k (d k - 1)) (A.next s' e)

theorem Meets.take (h : A.Meets own kind d s) : ∃ s', A.Reaches own s s' ∧
    ∀ e k, kind e = some k → 0 < d k →
      A.enabled s' e ∧ A.Meets own kind (Function.update d k (d k - 1)) (A.next s' e) := by
  obtain ⟨I, hI, hstep⟩ := h
  obtain ⟨s', hreach, htake⟩ := hstep d s hI
  refine ⟨s', hreach, ?_⟩
  intro e k he hk
  obtain ⟨hen, hI'⟩ := htake e k he hk
  exact ⟨hen, I, hI', hstep⟩

/-- Less is easier. -/
theorem Meets.mono (h : A.Meets own kind d s) (hd : d' ≤ d) : A.Meets own kind d' s := by
  obtain ⟨I, hI, hstep⟩ := h
  refine ⟨fun d' s => ∃ d, d' ≤ d ∧ I d s, ⟨d, hd, hI⟩, ?_⟩
  rintro d' s ⟨d, hd, hI⟩
  obtain ⟨s', hreach, htake⟩ := hstep d s hI
  refine ⟨s', hreach, ?_⟩
  intro e k he hk
  obtain ⟨hen, hI'⟩ := htake e k he (hk.trans_le (hd k))
  refine ⟨hen, _, ?_, hI'⟩
  intro k'
  by_cases hk' : k' = k
  · subst hk'
    simpa using Nat.sub_le_sub_right (hd k') 1
  · simpa [Function.update_of_ne hk'] using hd k'

end

variable (A) in
/-- The events `e` lead from `s 0` through the states `s` without end. -/
def Forever (s : Nat → σ) (e : Nat → ε) : Prop :=
  ∀ n, A.enabled (s n) (e n) ∧ s (n + 1) = A.next (s n) (e n)

variable (A) in
/-- Every infinite run from `s₀` has infinitely many arrivals. -/
def Ends (arrives : ε → Prop) (s₀ : σ) : Prop :=
  ∀ s e, A.Forever s e → s 0 = s₀ → ∀ n, ∃ m, n ≤ m ∧ arrives (e m)

/-- Everything ends if, but for arrivals, every event makes the measure smaller. -/
theorem ends_of_measure [LT α] [WellFoundedLT α] {arrives : ε → Prop} {I : σ → Prop} {f : σ → α}
    (hinv : ∀ s e, I s → A.enabled s e → I (A.next s e))
    (hdec : ∀ s e, I s → A.enabled s e → ¬arrives e → f (A.next s e) < f s)
    {s₀ : σ} (hs₀ : I s₀) : A.Ends arrives s₀ := by
  intro s e hrun h₀ n
  have hall : ∀ m, I (s m) := by
    intro m
    induction m with
    | zero => exact h₀ ▸ hs₀
    | succ m ih => exact (hrun m).2 ▸ hinv _ _ ih (hrun m).1
  by_contra hno
  push Not at hno
  -- without arrivals from `n` on the measure would decrease for ever
  have key : ∀ a m, n ≤ m → f (s m) ≠ a := by
    intro a
    induction a using WellFoundedLT.induction with
    | ind a ih =>
      intro m hm ha
      have hlt : f (s (m + 1)) < a :=
        ha ▸ (hrun m).2 ▸ hdec _ _ (hall m) (hrun m).1 (hno m hm)
      exact ih _ hlt (m + 1) (Nat.le_succ_of_le hm) rfl
  exact key _ n le_rfl rfl

theorem not_ends_of_step {arrives : ε → Prop} (he : A.enabled s e)
    (h : ¬A.Ends arrives (A.next s e)) : ¬A.Ends arrives s := by
  intro hends
  refine h fun s' e' hrun h₀ n => ?_
  -- the run from `s` that starts with `e`
  obtain ⟨m, hm, hm'⟩ := hends (fun n => n.casesOn s s') (fun n => n.casesOn e e')
    (by
      intro n
      cases n with
      | zero => exact ⟨he, h₀⟩
      | succ n => exact hrun n)
    rfl (n + 1)
  cases m with
  | zero => cases hm
  | succ m => exact ⟨m, Nat.le_of_succ_le_succ hm, hm'⟩

theorem not_ends_of_run {arrives : ε → Prop} {tr : List ε} (hr : A.Run s₁ tr s₂)
    (h : ¬A.Ends arrives s₂) : ¬A.Ends arrives s₁ := by
  induction hr with
  | nil => exact h
  | snoc _ he ih => exact ih (not_ends_of_step he h)

/-- An event that leads back to where it happened can be repeated for ever. -/
theorem not_ends_of_loop {arrives : ε → Prop} (he : A.enabled s e) (hloop : A.next s e = s)
    (hnot : ¬arrives e) : ¬A.Ends arrives s := by
  intro hends
  obtain ⟨m, -, hm⟩ := hends (fun _ => s) (fun _ => e) (fun _ => ⟨he, hloop.symm⟩) rfl 0
  exact hnot hm

end Automaton
end Automata
